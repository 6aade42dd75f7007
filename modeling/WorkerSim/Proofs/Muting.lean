import Mathlib.Data.List.Forall2
import WorkerSim.Launch
import WorkerSim.Proofs.Switches

/-!
# Documents without switches

Leave the places out of a document, let all switches in its tables of switches be off, and let a size
of the workload that is not zero count as one. Two documents of which the same is left describe
configurations of which the same is left, or neither of them describes one.
-/

set_option autoImplicit false

namespace WorkerSim

/-- Whether two results are errors that belong together, or values that a map does not tell apart. -/
inductive Alike {ε α β : Type} (errors : ε → ε → Prop) (f : α → β) : Except ε α → Except ε α → Prop
  | ok {a b : α} : f a = f b → Alike errors f (.ok a) (.ok b)
  | error {e e' : ε} : errors e e' → Alike errors f (.error e) (.error e')

namespace Alike

variable {ε α β γ δ : Type} {errors : ε → ε → Prop} {f : α → γ} {g : β → δ}

theorem bind {x y : Except ε α} {next next' : α → Except ε β} (h : Alike errors f x y)
    (hNext : ∀ a b, f a = f b → Alike errors g (next a) (next' b)) :
    Alike errors g (x >>= next) (y >>= next') := by
  cases h with
  | ok hSame => exact hNext _ _ hSame
  | error hErrors => exact .error hErrors

theorem map {x y : Except ε α} {see see' : α → β} (h : Alike errors f x y)
    (hSee : ∀ a b, f a = f b → g (see a) = g (see' b)) : Alike errors g (x.map see) (y.map see') := by
  cases h with
  | ok hSame => exact .ok (hSee _ _ hSame)
  | error hErrors => exact .error hErrors

theorem of_toOption {x y : Except ε α} (h : x.toOption.map f = y.toOption.map f) :
    Alike (fun _ _ => True) f x y := by
  match x, y with
  | .ok a, .ok b => exact .ok (Option.some.inj h)
  | .ok a, .error e => cases h
  | .error e, .ok b => cases h
  | .error e, .error e' => exact .error trivial

/-- What is found in an item is not told apart if what is left of the item tells what is left of it. -/
theorem of_left {ι : Type} {find : ι → Except ε α} {mute : ι → ι} {see : α → α}
    (hFind : ∀ i, (find (mute i)).toOption = (find i).toOption.map see) {i j : ι} (h : mute i = mute j) :
    Alike (fun _ _ => True) see (find i) (find j) := by
  apply of_toOption
  rw [← hFind i, ← hFind j, h]

end Alike

theorem toOption_bind {ε α β : Type} (x : Except ε α) (next : α → Except ε β) :
    (x >>= next).toOption = x.toOption.bind fun a => (next a).toOption := by
  cases x <;> rfl

namespace Toml

mutual

/-- A value without the places of its parts. -/
def Value.bare : Value → Value
  | .scalar s => .scalar s
  | .list items => .list (bareItems items)
  | .series ⟨_, latest⟩ others => .series ⟨default, latest.bare⟩ (bareItems others)
  | .table standing entries => .table standing (bareEntries entries)

def bareItems : List (Placed Value) → List (Placed Value)
  | [] => []
  | ⟨_, value⟩ :: items => ⟨default, value.bare⟩ :: bareItems items

def bareEntries : List (List Char × Placed Value) → List (List Char × Placed Value)
  | [] => []
  | (key, ⟨_, value⟩) :: entries => (key, ⟨default, value.bare⟩) :: bareEntries entries

end

mutual

theorem toOption_passOver_bare (span span' : Span) :
    ∀ v : Value, (v.bare.passOver span').toOption = (v.passOver span).toOption
  | .scalar s => by
    simp only [Value.bare, Value.passOver]
    cases s.describe <;> rfl
  | .list items => toOption_passOverItems_bare items
  | .series ⟨latest, value⟩ others =>
    toOption_passOverBefore_bare others (toOption_passOver_bare latest default value)
  | .table _ entries => toOption_passOverEntries_bare entries

theorem toOption_passOverItems_bare :
    ∀ items, (passOverItems (bareItems items)).toOption = (passOverItems items).toOption
  | [] => rfl
  | ⟨span, value⟩ :: items => by
    simp only [bareItems, passOverItems, toOption_bind, toOption_passOver_bare span default value,
      toOption_passOverItems_bare items]

theorem toOption_passOverBefore_bare : ∀ (items) {after after' : Except Misfit Unit},
    after'.toOption = after.toOption →
      (passOverBefore after' (bareItems items)).toOption = (passOverBefore after items).toOption
  | [], _, _, h => h
  | ⟨span, value⟩ :: items, after, after', h => by
    have hValue := toOption_passOver_bare span default value
    simp only [bareItems, passOverBefore]
    cases hHere : value.passOver span with
    | ok _ =>
      cases hBare : value.bare.passOver default with
      | ok _ => exact toOption_passOverBefore_bare items h
      | error misfit =>
        rw [hHere, hBare] at hValue
        cases hValue
    | error misfit =>
      cases hBare : value.bare.passOver default with
      | ok _ =>
        rw [hHere, hBare] at hValue
        cases hValue
      | error misfit' => exact toOption_passOverBefore_bare items rfl

theorem toOption_passOverEntries_bare :
    ∀ entries, (passOverEntries (bareEntries entries)).toOption = (passOverEntries entries).toOption
  | [] => rfl
  | (key, ⟨span, value⟩) :: entries => by
    simp only [bareEntries, passOverEntries, toOption_bind, toOption_passOver_bare span default value,
      toOption_passOverEntries_bare entries]

end

namespace Item

def bare (item : Item) : Item := ⟨default, item.value.bare⟩

/-- A number that is not zero counts as one. -/
def muteNumber (item : Item) : Item :=
  match item.number with
  | .ok n => if n = 0 then item.bare else ⟨default, .scalar (.integer (some 1))⟩
  | .error _ => item.bare

/-- A switch is off. -/
def muteFlag (item : Item) : Item :=
  match item.value with
  | .scalar (.boolean _) => ⟨default, .scalar (.boolean false)⟩
  | _ => item.bare

theorem toOption_unexpected {α : Type} (item : Item) (expected : Expectation) :
    (unexpected item expected : Except Misfit α).toOption = none := by
  rw [unexpected]
  cases item.value.describe <;> rfl

theorem toOption_number_bare (item : Item) : item.bare.number.toOption = item.number.toOption := by
  obtain ⟨span, value⟩ := item
  cases value with
  | scalar s =>
    cases s with
    | integer n? =>
      cases n? with
      | none => simp only [number, bare, Value.bare, toOption_unexpected]
      | some n =>
        simp only [number, bare, Value.bare]
        split
        · rfl
        · split
          · rfl
          · rw [toOption_unexpected, toOption_unexpected]
    | _ => simp only [number, bare, Value.bare, toOption_unexpected]
  | _ => simp only [number, bare, Value.bare, toOption_unexpected]

theorem toOption_number_mute (item : Item) :
    item.muteNumber.number.toOption = item.number.toOption.map Flags.muteSize := by
  cases hNumber : item.number with
  | error misfit =>
    rw [muteNumber, hNumber]
    refine (toOption_number_bare item).trans ?_
    rw [hNumber]
    rfl
  | ok n =>
    have hMute : item.muteNumber =
        if n = 0 then item.bare else ⟨default, .scalar (.integer (some 1))⟩ := by
      rw [muteNumber, hNumber]
    rw [hMute]
    by_cases hZero : n = 0
    · rw [if_pos hZero, toOption_number_bare, hNumber, hZero]
      rfl
    · rw [if_neg hZero]
      exact congrArg some (if_neg hZero).symm

theorem toOption_flag_mute (item : Item) :
    item.muteFlag.flag.toOption = item.flag.toOption.map fun _ => false := by
  obtain ⟨span, value⟩ := item
  cases value with
  | scalar s =>
    cases s with
    | boolean b => rfl
    | _ => simp only [flag, muteFlag, bare, Value.bare, toOption_unexpected, Option.map_none]
  | _ => simp only [flag, muteFlag, bare, Value.bare, toOption_unexpected, Option.map_none]

variable {i j : Item}

theorem alike_number_bare (h : i.bare = j.bare) : Alike (fun _ _ => True) id i.number j.number :=
  Alike.of_left (fun i => by rw [toOption_number_bare, Option.map_id_fun, id]) h

theorem alike_number_mute (h : i.muteNumber = j.muteNumber) :
    Alike (fun _ _ => True) Flags.muteSize i.number j.number :=
  Alike.of_left toOption_number_mute h

theorem alike_flag_mute (h : i.muteFlag = j.muteFlag) :
    Alike (fun _ _ => True) (fun _ => false) i.flag j.flag :=
  Alike.of_left toOption_flag_mute h

/-- What comes of passing over an item. -/
def skipped (item : Item) : Option Unit := (item.value.passOver item.span).toOption

theorem skipped_bare (item : Item) : item.bare.skipped = item.skipped := toOption_passOver_bare _ _ item.value

theorem skipped_muteFlag (item : Item) : item.muteFlag.skipped = item.skipped := by
  obtain ⟨span, value⟩ := item
  cases value with
  | scalar s =>
    cases s with
    | boolean b => rfl
    | _ => exact skipped_bare _
  | _ => exact skipped_bare _

theorem skipped_eq_of_bare (h : i.bare = j.bare) : i.skipped = j.skipped := by
  rw [← skipped_bare i, ← skipped_bare j, h]

theorem skipped_eq_of_muteFlag (h : i.muteFlag = j.muteFlag) : i.skipped = j.skipped := by
  rw [← skipped_muteFlag i, ← skipped_muteFlag j, h]

end Item

/-- Entries with something done to each item, by its key. -/
def Entries.mute (mute : List Char → Item → Item) (es : Entries) : Entries :=
  es.map fun e => (e.1, mute e.1 e.2)

/-- A table with something done to each item, by its key; items of a list have the keys that their
positions stand for, and what exceeds these keys is left out. -/
def Item.muteTable (keys : List (List Char)) (mute : List Char → Item → Item) (item : Item) : Item :=
  match item.value with
  | .scalar s => ⟨default, .scalar s⟩
  | .table standing es => ⟨default, .table standing (Entries.mute mute es)⟩
  | .list items => ⟨default, .list ((Entries.mute mute (keys.zip items)).map Prod.snd)⟩
  | .series latest others =>
    ⟨default, .list ((Entries.mute mute (keys.zip (others.reverse ++ [latest]))).map Prod.snd)⟩

namespace Record

variable {α β γ : Type} {r : Record α} {mute : List Char → Item → Item} {see : α → γ}

def keys (r : Record α) : List (List Char) := r.fields.map Prod.fst

/-- Whether two ways to look at things, at items and at what is read from them, fit: items that are
not told apart change nothing that can be told apart. -/
structure Forgets (r : Record α) (mute : List Char → Item → Item) (see : α → γ) : Prop where
  known : r.fields.Forall fun field => ∀ i j a b, mute field.1 i = mute field.1 j → see a = see b →
    Alike (fun _ _ => True) see (field.2 i a) (field.2 j b)
  unknown : ∀ key ∉ r.keys, ∀ i j : Item, mute key i = mute key j → i.skipped = j.skipped

namespace Forgets

theorem assign (h : r.Forgets mute see) {key : List Char} {i j : Item} (hItems : mute key i = mute key j)
    {a b : α} (hSame : see a = see b) :
    Alike (fun _ _ => True) see (r.assign a key i) (r.assign b key j) := by
  rw [Record.assign, Record.assign]
  cases hLookup : r.fields.lookup key with
  | none =>
    have hKey : key ∉ r.keys := by
      intro hMem
      obtain ⟨field, hField, rfl⟩ := List.mem_map.mp hMem
      simpa using List.lookup_eq_none_iff.mp hLookup _ hField
    have hOver := congrArg (Option.map id) (h.unknown key hKey i j hItems)
    exact (Alike.of_toOption hOver).map fun _ _ _ => hSame
  | some set =>
    obtain ⟨before, after, hFields, -⟩ := List.lookup_eq_some_iff.mp hLookup
    have hMem : (key, set) ∈ r.fields := by simp [hFields]
    exact List.forall_iff_forall_mem.mp h.known _ hMem i j a b hItems hSame

theorem foldlM (h : r.Forgets mute see) {es es' : Entries}
    (hEntries : Entries.mute mute es = Entries.mute mute es') {a b : α} (hSame : see a = see b) :
    Alike (fun _ _ => True) see (es.foldlM (fun a e => r.assign a e.1 e.2) a)
      (es'.foldlM (fun a e => r.assign a e.1 e.2) b) := by
  induction es generalizing es' a b with
  | nil =>
    obtain rfl := List.map_eq_nil_iff.mp hEntries.symm
    exact .ok hSame
  | cons e es ih =>
    obtain ⟨e', es', rfl, hHead, hTail⟩ := List.map_eq_cons_iff.mp hEntries.symm
    obtain ⟨hKey, hItem⟩ := Prod.mk.inj hHead
    rw [List.foldlM_cons, List.foldlM_cons]
    refine Alike.bind ?_ fun _ _ hNext => ih hTail.symm hNext
    rw [hKey] at hItem ⊢
    exact h.assign hItem.symm hSame

theorem ofEntries (h : r.Forgets mute see) {es es' : Entries}
    (hEntries : Entries.mute mute es = Entries.mute mute es') :
    Alike (fun _ _ => True) see (r.ofEntries es) (r.ofEntries es') :=
  h.foldlM hEntries rfl

theorem ofItems (h : r.Forgets mute see) {items items' : List Item}
    (hItems : (Entries.mute mute (r.keys.zip items)).map Prod.snd =
      (Entries.mute mute (r.keys.zip items')).map Prod.snd) :
    Alike (fun _ _ => True) see (r.ofItems items) (r.ofItems items') := by
  refine h.ofEntries ?_
  change Entries.mute mute (r.keys.zip items) = Entries.mute mute (r.keys.zip items')
  generalize r.keys = keys at hItems
  -- the keys are the same in both, up to the end of the shorter row
  induction keys generalizing items items' with
  | nil => rfl
  | cons key keys ih =>
    cases items with
    | nil =>
      cases items' with
      | nil => rfl
      | cons item' items' => cases hItems
    | cons item items =>
      cases items' with
      | nil => cases hItems
      | cons item' items' =>
        obtain ⟨hHead, hTail⟩ := List.cons.inj hItems
        exact congrArg₂ List.cons (congrArg (Prod.mk key) hHead) (ih hTail)

theorem read (h : r.Forgets mute see) {i j : Item}
    (hItems : i.muteTable r.keys mute = j.muteTable r.keys mute) :
    Alike (fun _ _ => True) see (r.read i) (r.read j) := by
  obtain ⟨span, value⟩ := i
  obtain ⟨span', value'⟩ := j
  cases value with
  | scalar s =>
    cases value' with
    | scalar s' =>
      obtain rfl := Value.scalar.inj (congrArg Placed.value hItems)
      cases s with
      | moment => exact .ok rfl
      | _ =>
        apply Alike.of_toOption
        simp only [Record.read, Item.toOption_unexpected]
    | _ => cases hItems
  | table standing es =>
    cases value' with
    | table standing' es' =>
      obtain ⟨-, hEntries⟩ := Value.table.inj (congrArg Placed.value hItems)
      exact h.ofEntries hEntries
    | _ => cases hItems
  | list items =>
    cases value' with
    | list items' | series latest others => exact h.ofItems (Value.list.inj (congrArg Placed.value hItems))
    | _ => cases hItems
  | series latest others =>
    cases value' with
    | list items' | series latest' others' =>
      exact h.ofItems (Value.list.inj (congrArg Placed.value hItems))
    | _ => cases hItems

end Forgets

end Record

end Toml

open Toml

def Runaway.Settings.mute (s : Runaway.Settings) : Runaway.Settings :=
  { s with workloadSize := Flags.muteSize s.workloadSize }

def Runaway.Settings.muteItem (key : List Char) : Item → Item :=
  if key = "workload_size".toList then Item.muteNumber else Item.bare

theorem Runaway.Settings.mute_eq_iff {s t : Runaway.Settings} : s.mute = t.mute ↔
    Flags.muteSize s.workloadSize = Flags.muteSize t.workloadSize ∧ s.reportEvery = t.reportEvery ∧
      s.maxIterations = t.maxIterations := by
  simp [mute]

theorem Runaway.Settings.forgets : Runaway.Settings.record.Forgets muteItem mute where
  known := by
    refine ⟨fun i j a b hItems hSame => ?_, fun i j a b hItems hSame => ?_,
      fun i j a b hItems hSame => ?_⟩
    · obtain ⟨-, hEvery, hLimit⟩ := mute_eq_iff.mp hSame
      exact (Item.alike_number_mute hItems).map fun m n hSize => mute_eq_iff.mpr ⟨hSize, hEvery, hLimit⟩
    · obtain ⟨hSize, -, hLimit⟩ := mute_eq_iff.mp hSame
      exact (Item.alike_number_bare hItems).map fun m n hEvery => mute_eq_iff.mpr ⟨hSize, hEvery, hLimit⟩
    · obtain ⟨hSize, hEvery, -⟩ := mute_eq_iff.mp hSame
      exact (Item.alike_number_bare hItems).map fun m n hLimit =>
        mute_eq_iff.mpr ⟨hSize, hEvery, congrArg some hLimit⟩
  unknown key hKey i j hItems := by
    have hOther : key ≠ "workload_size".toList := fun hSame => hKey (hSame ▸ List.mem_cons_self)
    rw [muteItem, if_neg hOther] at hItems
    exact Item.skipped_eq_of_bare hItems

theorem Recovered.Settings.forgets : Recovered.Settings.record.Forgets (fun _ => Item.bare) id where
  known := by
    refine ⟨fun i j a b hItems hSame => ?_, fun i j a b hItems hSame => ?_⟩
    · refine (Item.alike_number_bare hItems).map fun m n hBeats => ?_
      obtain rfl : a = b := hSame
      obtain rfl : m = n := hBeats
      rfl
    · refine (Item.alike_number_bare hItems).map fun m n hTime => ?_
      obtain rfl : a = b := hSame
      obtain rfl : m = n := hTime
      rfl
  unknown _ _ _ _ := Item.skipped_eq_of_bare

theorem Logging.forgets :
    Logging.record.Forgets (fun _ => Item.muteFlag) (fun _ => ({} : Logging)) where
  known := ⟨fun _ _ _ _ hItems _ => (Item.alike_flag_mute hItems).map fun _ _ _ => rfl,
    fun _ _ _ _ hItems _ => (Item.alike_flag_mute hItems).map fun _ _ _ => rfl⟩
  unknown _ _ _ _ := Item.skipped_eq_of_muteFlag

theorem Monitoring.forgets :
    Monitoring.record.Forgets (fun _ => Item.muteFlag) (fun _ => ({} : Monitoring)) where
  known _ _ _ _ hItems _ := (Item.alike_flag_mute hItems).map fun _ _ _ => rfl
  unknown _ _ _ _ := Item.skipped_eq_of_muteFlag

namespace Config

/-- A configuration without switches, and with a size that is one if it is not zero. -/
def mute (c : Config) : Config := ⟨c.runaway.mute, c.recovered, {}, {}⟩

/-- What is left of an item of the root. -/
def muteItem (key : List Char) : Item → Item :=
  if key = "runaway".toList then
    Item.muteTable Runaway.Settings.record.keys Runaway.Settings.muteItem
  else if key = "recovered".toList then
    Item.muteTable Recovered.Settings.record.keys fun _ => Item.bare
  else if key = "logging".toList then Item.muteTable Logging.record.keys fun _ => Item.muteFlag
  else if key = "monitoring".toList then Item.muteTable Monitoring.record.keys fun _ => Item.muteFlag
  else Item.bare

theorem mute_eq_iff {c d : Config} :
    c.mute = d.mute ↔ c.runaway.mute = d.runaway.mute ∧ c.recovered = d.recovered := by
  simp [mute]

theorem forgets : record.Forgets muteItem mute where
  known := by
    refine ⟨fun i j a b hItems hSame => ?_, fun i j a b hItems hSame => ?_,
      fun i j a b hItems hSame => ?_, fun i j a b hItems hSame => ?_⟩
    · exact (Runaway.Settings.forgets.read hItems).map fun s t hSettings =>
        mute_eq_iff.mpr ⟨hSettings, (mute_eq_iff.mp hSame).2⟩
    · exact (Recovered.Settings.forgets.read hItems).map fun s t hSettings =>
        mute_eq_iff.mpr ⟨(mute_eq_iff.mp hSame).1, hSettings⟩
    · exact (Logging.forgets.read hItems).map fun _ _ _ => hSame
    · exact (Monitoring.forgets.read hItems).map fun _ _ _ => hSame
  unknown key hKey i j hItems := by
    have hOther : ∀ name ∈ record.keys, key ≠ name := fun name hMem hSame => hKey (hSame ▸ hMem)
    rw [muteItem, if_neg (hOther _ (by decide)), if_neg (hOther _ (by decide)),
      if_neg (hOther _ (by decide)), if_neg (hOther _ (by decide))] at hItems
    exact Item.skipped_eq_of_bare hItems

/-- What is left of a document, if it is one. -/
def muteDocument (document : List Char) : Option Entries :=
  (Document.ofText? document).map (Entries.mute muteItem)

end Config

/-- Whether two faults are the same, or both lie in how a configuration is written. -/
inductive Fault.Alike : Fault → Fault → Prop
  | same (fault : Fault) : Alike fault fault
  | config (cause cause' : ConfigCause) : Alike (.config cause) (.config cause')

namespace Config

theorem alike_ofDocument {document document' : List Char}
    (h : muteDocument document = muteDocument document') :
    Alike Fault.Alike mute (ofDocument document) (ofDocument document') := by
  rw [ofDocument, ofDocument]
  rw [muteDocument, muteDocument] at h
  cases hRoot : Document.ofText? document with
  | none =>
    rw [hRoot] at h
    rw [Option.map_eq_none_iff.mp h.symm]
    exact .error (.same _)
  | some root =>
    rw [hRoot, Option.map_some] at h
    obtain ⟨root', hRoot', hEntries⟩ := Option.map_eq_some_iff.mp h.symm
    have hRead := forgets.ofEntries hEntries.symm
    rw [hRoot']
    simp only
    generalize record.ofEntries root = x, record.ofEntries root' = y at hRead
    cases hRead with
    | ok hSame => exact .ok hSame
    | error _ => exact .error (.config _ _)

/-- Whether there is the same file at a path, its document without switches and its size apart, and
variables that it asks for have the same values; or there is no text, for the same cause. -/
inductive SameFile (path : List Char) (env env' : Environment) (fs fs' : FileSystem) : Prop
  | text (text text' : List Char) : fs.readText path = .ok text → fs'.readText path = .ok text' →
      (∀ name ∈ Placeholder.names text ++ Placeholder.names text', env.get? name = env'.get? name) →
      muteDocument (Placeholder.substitute env.text? text) =
        muteDocument (Placeholder.substitute env.text? text') →
      SameFile path env env' fs fs'
  | none (cause : IoCause) : fs.readText path = .error cause → fs'.readText path = .error cause →
      SameFile path env env' fs fs'

variable {env env' : Environment} {fs fs' : FileSystem}

theorem alike_ofFile {path : List Char} (h : SameFile path env env' fs fs') :
    Alike Fault.Alike mute (ofFile env fs path) (ofFile env' fs' path) := by
  rw [ofFile, ofFile]
  cases h with
  | text text text' hText hText' hNames hDocument =>
    rw [hText, hText']
    have hSame : Placeholder.substitute env.text? text' = Placeholder.substitute env'.text? text' := by
      apply Placeholder.substitute_congr
      intro name hMem
      rw [Environment.text?, Environment.text?, hNames name (List.mem_append_right _ hMem)]
    simp only [ofText, ← hSame]
    exact alike_ofDocument hDocument
  | none cause hText hText' =>
    rw [hText, hText']
    exact .error (.same _)

end Config

/-! ### Checks -/

theorem Check.atLeast_mute (field : String) (n : UInt64) :
    Check.atLeast field (Flags.muteSize n) 1 = Check.atLeast field n 1 := by
  by_cases hZero : n = 0
  · rw [hZero]
    rfl
  · have hLess : ¬ n < 1 := by rwa [UInt64.lt_one_iff]
    rw [Flags.muteSize, if_neg hZero, Check.atLeast, Check.atLeast, if_neg hLess]
    rfl

theorem Runaway.Settings.check_mute (s : Runaway.Settings) : s.mute.check = s.check := by
  simp only [check, mute, Check.atLeast_mute]

theorem Config.check_mute (c : Config) : c.mute.check = c.check := by
  simp only [check, mute, Runaway.Settings.check_mute]

def Job.mute : Job → Job
  | .runaway s => .runaway s.mute
  | .recovered s => .recovered s

namespace Flags

variable {f f' : Flags} {c c' : Config} {env env' : Environment} {fs fs' : FileSystem}

theorem runawaySettings_mute (f : Flags) (c : Config) :
    (f.runawaySettings c).mute = f.mute.runawaySettings c.mute := by
  have hSize : muteSize (f.workloadSize.getD c.runaway.workloadSize) =
      (f.workloadSize.map muteSize).getD (muteSize c.runaway.workloadSize) := by
    cases f.workloadSize <;> rfl
  simp only [Runaway.Settings.mute, runawaySettings, hSize]
  rfl

theorem alike_load (hFlags : f.mute = f'.mute)
    (hFile : ∀ path, f.config = some path → Config.SameFile path env env' fs fs') :
    Alike Fault.Alike Config.mute (f.load env fs) (f'.load env' fs') := by
  have hPath : f'.config = f.config := (congrArg Flags.config hFlags).symm
  rw [load, load, hPath]
  cases hSome : f.config with
  | none => exact .ok rfl
  | some path =>
    simp only
    cases Check.notBlank "config" (String.ofList path) with
    | error fault => exact .error (.same fault)
    | ok _ =>
      refine (Config.alike_ofFile (hFile path hSome)).bind fun c c' hConfig => ?_
      rw [← Config.check_mute c, ← Config.check_mute c', hConfig]
      cases c'.mute.check with
      | error fault => exact .error (.same fault)
      | ok _ => exact .ok hConfig

theorem alike_job (hFlags : f.mute = f'.mute) (hConfig : c.mute = c'.mute) (p : Program) :
    Alike Fault.Alike Job.mute (f.job p c) (f'.job p c') := by
  cases p with
  | runaway =>
    have hSettings : (f.runawaySettings c).mute = (f'.runawaySettings c').mute := by
      rw [runawaySettings_mute, runawaySettings_mute, hFlags, hConfig]
    rw [job, job, ← Runaway.Settings.check_mute (f.runawaySettings c),
      ← Runaway.Settings.check_mute (f'.runawaySettings c'), hSettings]
    cases (f'.runawaySettings c').mute.check with
    | error fault => exact .error (.same fault)
    | ok _ => exact .ok (congrArg Job.runaway hSettings)
  | recovered =>
    have hSettings : f.recoveredSettings c = f'.recoveredSettings c' := by
      have hMute : f.mute.recoveredSettings c.mute = f'.mute.recoveredSettings c'.mute := by
        rw [hFlags, hConfig]
      exact hMute
    rw [job, job, hSettings]
    cases (f'.recoveredSettings c').check with
    | error fault => exact .error (.same fault)
    | ok _ => exact .ok rfl

end Flags

end WorkerSim

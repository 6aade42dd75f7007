import WorkerSim.Proofs.Check
import WorkerSim.Proofs.Layers

/-!
# What loading comes to

Without a path a program has the default configuration. A path may be blank, unreadable, or that of a
file that is not UTF-8, not a document of a configuration, or one with a zero; else it is loaded. The
first of these that is so is what is reported, and no file but that at the path has a say.
-/

set_option autoImplicit false

namespace WorkerSim

open Toml

theorem Numbers.firstZero_eq_some_iff (ns : Numbers) (field : String) : ns.firstZero = some field ↔
    ∃ before after, ns = before ++ (field, some 0) :: after ∧ ∀ n ∈ before, n.2 ≠ some 0 := by
  rw [firstZero, Option.map_eq_some_iff]
  constructor
  · rintro ⟨⟨_, n⟩, hFind, rfl⟩
    obtain ⟨hZero, before, after, rfl, hBefore⟩ := List.find?_eq_some_iff_append.mp hFind
    obtain rfl : n = some 0 := of_decide_eq_true hZero
    refine ⟨before, after, rfl, fun n hMem hSame => ?_⟩
    have hNot := hBefore n hMem
    rw [decide_eq_true hSame] at hNot
    cases hNot
  · rintro ⟨before, after, rfl, hBefore⟩
    refine ⟨(field, some 0), List.find?_eq_some_iff_append.mpr ⟨rfl, before, after, rfl, ?_⟩, rfl⟩
    intro n hMem
    rw [decide_eq_false (hBefore n hMem)]
    rfl

namespace Config

/-- The text becomes a document, and the document is one of this configuration. -/
def Decodes (env : Environment) (text : List Char) (c : Config) : Prop :=
  ∃ root, Document.ofText? (Placeholder.substitute env.text? text) = some root ∧
    record.ofEntries root = .ok c

theorem Decodes.ofText_eq {env : Environment} {text : List Char} {c : Config} (h : Decodes env text c) :
    Config.ofText env text = .ok c := by
  obtain ⟨root, hRoot, hRead⟩ := h
  rw [Config.ofText, Config.ofDocument, hRoot]
  simp only [hRead]

end Config

namespace Flags

/-- What loading comes to, by what is at the path. -/
inductive Loads (env : Environment) (fs : FileSystem) : Option (List Char) → Except Fault Config → Prop
  | default : Loads env fs none (.ok {})
  | blank {path : List Char} (hPath : ∀ c ∈ path, Text.isBlank c = true) :
      Loads env fs (some path) (.error (.value "config" (String.ofList path) .blank))
  | unreadable {path : List Char} {cause : IoCause} (hPath : ∃ c ∈ path, Text.isBlank c = false)
      (hRead : fs path = .error cause) : Loads env fs (some path) (.error (.io cause))
  | notText {path : List Char} {bytes : Text.Bytes} (hPath : ∃ c ∈ path, Text.isBlank c = false)
      (hRead : fs path = .ok bytes) (hText : ∀ text, Text.Utf8.encode text ≠ bytes) :
      Loads env fs (some path) (.error (.io .notUtf8))
  | notDocument {path text : List Char} (hPath : ∃ c ∈ path, Text.isBlank c = false)
      (hRead : fs path = .ok (Text.Utf8.encode text))
      (hRoot : Document.ofText? (Placeholder.substitute env.text? text) = none) :
      Loads env fs (some path) (.error (.config .notToml))
  | misfit {path text : List Char} {root : Entries} {misfit : Misfit}
      (hPath : ∃ c ∈ path, Text.isBlank c = false) (hRead : fs path = .ok (Text.Utf8.encode text))
      (hRoot : Document.ofText? (Placeholder.substitute env.text? text) = some root)
      (hMisfit : Config.record.ofEntries root = .error misfit) :
      Loads env fs (some path) (.error (.config (.misfit
        (Report.ofMisfit (Placeholder.substitute env.text? text) misfit))))
  | zero {path text : List Char} {c : Config} {field : String} {before after : Numbers}
      (hPath : ∃ c ∈ path, Text.isBlank c = false) (hRead : fs path = .ok (Text.Utf8.encode text))
      (hConfig : Config.Decodes env text c) (hZero : c.numbers = before ++ (field, some 0) :: after)
      (hBefore : ∀ n ∈ before, n.2 ≠ some 0) :
      Loads env fs (some path) (.error (.value field "0" (.below 1)))
  | loaded {path text : List Char} {c : Config} (hPath : ∃ c ∈ path, Text.isBlank c = false)
      (hRead : fs path = .ok (Text.Utf8.encode text)) (hConfig : Config.Decodes env text c)
      (hNumbers : ∀ n ∈ c.numbers, n.2 ≠ some 0) : Loads env fs (some path) (.ok c)

variable {f : Flags} {env : Environment} {fs : FileSystem} {path : List Char}

theorem load_of_blank (hFlag : f.config = some path) (hPath : ∀ c ∈ path, Text.isBlank c = true) :
    f.load env fs = .error (.value "config" (String.ofList path) .blank) := by
  have hBlank : Check.notBlank "config" (String.ofList path) =
      .error (.value "config" (String.ofList path) .blank) := by
    rw [Check.notBlank_eq, String.toList_ofList, if_pos ((Text.isBlankText_iff path).mpr hPath)]
  rw [load, hFlag]
  simp only [hBlank]
  rfl

theorem load_of_path (hFlag : f.config = some path) (hPath : ∃ c ∈ path, Text.isBlank c = false) :
    f.load env fs = Config.ofFile env fs path >>= fun c => c.numbers.check >>= fun _ => .ok c := by
  have hBlank : Check.notBlank "config" (String.ofList path) = .ok () := by
    rw [Check.notBlank_eq, String.toList_ofList, if_neg]
    rw [Text.isBlankText_iff]
    intro hAll
    obtain ⟨c, hMem, hChar⟩ := hPath
    rw [hAll c hMem] at hChar
    cases hChar
  rw [load, hFlag]
  simp only [hBlank, Config.check_eq]
  rfl

theorem ofFile_of_encode {text : List Char} (hRead : fs path = .ok (Text.Utf8.encode text)) :
    Config.ofFile env fs path = Config.ofText env text := by
  rw [Config.ofFile, FileSystem.readText_of_encode hRead]

theorem readText_of_not_encode {bytes : Text.Bytes} (hRead : fs path = .ok bytes)
    (hText : ∀ text, Text.Utf8.encode text ≠ bytes) : fs.readText path = .error .notUtf8 := by
  have hNone : Text.Utf8.decode? bytes = none := by
    cases hDecode : Text.Utf8.decode? bytes with
    | none => rfl
    | some text => exact absurd (Text.Utf8.eq_encode_of_decode? hDecode).symm (hText text)
  rw [FileSystem.readText, hRead]
  simp only [bind, Except.bind, hNone]

theorem Loads.load_eq {result : Except Fault Config} (h : Loads env fs f.config result) :
    f.load env fs = result := by
  generalize hFlag : f.config = path? at h
  cases h with
  | default => rw [load, hFlag]
  | blank hPath => exact load_of_blank hFlag hPath
  | unreadable hPath hRead =>
    rw [load_of_path hFlag hPath, Config.ofFile, FileSystem.readText, hRead]
    rfl
  | notText hPath hRead hText =>
    rw [load_of_path hFlag hPath, Config.ofFile, readText_of_not_encode hRead hText]
    rfl
  | notDocument hPath hRead hRoot =>
    rw [load_of_path hFlag hPath, ofFile_of_encode hRead, Config.ofText, Config.ofDocument, hRoot]
    rfl
  | misfit hPath hRead hRoot hMisfit =>
    rw [load_of_path hFlag hPath, ofFile_of_encode hRead, Config.ofText, Config.ofDocument, hRoot]
    simp only [hMisfit]
    rfl
  | zero hPath hRead hConfig hZero hBefore =>
    have hFirst := (Numbers.firstZero_eq_some_iff _ _).mpr ⟨_, _, hZero, hBefore⟩
    rw [load_of_path hFlag hPath, ofFile_of_encode hRead, hConfig.ofText_eq]
    simp only [Numbers.check, hFirst, bind, Except.bind, Numbers.fault]
  | loaded hPath hRead hConfig hNumbers =>
    have hNone := (Numbers.firstZero_eq_none_iff _).mpr hNumbers
    rw [load_of_path hFlag hPath, ofFile_of_encode hRead, hConfig.ofText_eq]
    simp only [Numbers.check, hNone, bind, Except.bind]

theorem loads_of_text {text : List Char} (hPath : ∃ c ∈ path, Text.isBlank c = false)
    (hRead : fs path = .ok (Text.Utf8.encode text)) : ∃ result, Loads env fs (some path) result := by
  cases hRoot : Document.ofText? (Placeholder.substitute env.text? text) with
  | none => exact ⟨_, .notDocument hPath hRead hRoot⟩
  | some root =>
    cases hEntries : Config.record.ofEntries root with
    | error misfit => exact ⟨_, .misfit hPath hRead hRoot hEntries⟩
    | ok c =>
      have hConfig : Config.Decodes env text c := ⟨root, hRoot, hEntries⟩
      cases hFirst : c.numbers.firstZero with
      | none => exact ⟨_, .loaded hPath hRead hConfig ((Numbers.firstZero_eq_none_iff _).mp hFirst)⟩
      | some field =>
        obtain ⟨before, after, hZero, hBefore⟩ := (Numbers.firstZero_eq_some_iff _ _).mp hFirst
        exact ⟨_, .zero hPath hRead hConfig hZero hBefore⟩

/-- One of the cases is always so. -/
theorem exists_loads (path? : Option (List Char)) (env : Environment) (fs : FileSystem) :
    ∃ result, Loads env fs path? result := by
  cases path? with
  | none => exact ⟨_, .default⟩
  | some path =>
    by_cases hPath : ∀ c ∈ path, Text.isBlank c = true
    · exact ⟨_, .blank hPath⟩
    · push Not at hPath
      simp only [ne_eq, Bool.not_eq_true] at hPath
      cases hRead : fs path with
      | error cause => exact ⟨_, .unreadable hPath hRead⟩
      | ok bytes =>
        by_cases hText : ∃ text, Text.Utf8.encode text = bytes
        · obtain ⟨text, rfl⟩ := hText
          exact loads_of_text hPath hRead
        · exact ⟨_, .notText hPath hRead (not_exists.mp hText)⟩

theorem Loads.congr {fs' : FileSystem} {path? : Option (List Char)} {result : Except Fault Config}
    (h : Loads env fs path? result)
    (hSame : ∀ path, path? = some path → (∃ c ∈ path, Text.isBlank c = false) →
      fs' path = fs path) : Loads env fs' path? result := by
  cases h with
  | default => exact .default
  | blank hPath => exact .blank hPath
  | unreadable hPath hRead => exact .unreadable hPath ((hSame _ rfl hPath).trans hRead)
  | notText hPath hRead hText => exact .notText hPath ((hSame _ rfl hPath).trans hRead) hText
  | notDocument hPath hRead hRoot => exact .notDocument hPath ((hSame _ rfl hPath).trans hRead) hRoot
  | misfit hPath hRead hRoot hMisfit =>
    exact .misfit hPath ((hSame _ rfl hPath).trans hRead) hRoot hMisfit
  | zero hPath hRead hConfig hZero hBefore =>
    exact .zero hPath ((hSame _ rfl hPath).trans hRead) hConfig hZero hBefore
  | loaded hPath hRead hConfig hNumbers =>
    exact .loaded hPath ((hSame _ rfl hPath).trans hRead) hConfig hNumbers

/-- Loading is the first of the cases that is so, and depends on no file but the one at the path, and
on that one only if the path is not blank. -/
theorem load_eq_iff (f : Flags) (env : Environment) (fs : FileSystem) :
    (∀ result, f.load env fs = result ↔ Loads env fs f.config result) ∧
    ∀ fs' : FileSystem, (∀ path, f.config = some path → (∃ c ∈ path, Text.isBlank c = false) →
      fs' path = fs path) → f.load env fs' = f.load env fs := by
  have hLoads : Loads env fs f.config (f.load env fs) := by
    obtain ⟨result, hResult⟩ := exists_loads f.config env fs
    rw [hResult.load_eq]
    exact hResult
  refine ⟨fun result => ⟨?_, Loads.load_eq⟩, fun fs' hSame => ?_⟩
  · rintro rfl
    exact hLoads
  · exact (hLoads.congr hSame).load_eq

/-- The blank in front of this path is part of it, so the file without it is not the one. -/
theorem load_of_path_with_blank :
    let f : Flags := { config := some " a.toml".toList }
    let fs : FileSystem := fun path => if path = "a.toml".toList then .ok [] else .error (.system 2)
    f.load [] fs = .error (.io (.system 2)) ∧ f.load [] (fun _ => .error (.system 2)) = f.load [] fs := by
  intro f fs
  have hPath : ∃ c ∈ " a.toml".toList, Text.isBlank c = false := ⟨'a', by decide, by decide⟩
  refine ⟨((load_eq_iff f [] fs).1 _).mpr (.unreadable hPath rfl), (load_eq_iff f [] fs).2 _ ?_⟩
  rintro path ⟨⟩ -
  rfl

end Flags

end WorkerSim
